/-!
# The base class of generated C++ commands

The file as it is shipped, line by line.
-/

namespace CommandForge.Support

/-- The lines of the base file. -/
def cppBase : List String := [
  "// This file is auto-generated. Do not edit manually.",
  "#pragma once",
  "",
  "#include <cstdint>",
  "#include <optional>",
  "#include <stdexcept>",
  "#include <string>",
  "#include <type_traits>",
  "#include <utility>",
  "",
  "#include <nlohmann/json.hpp>",
  "",
  "namespace GeneratedCommands",
  "\x7b",
  "    /**",
  "     * @brief Thrown when JSON text cannot be decoded into a command.",
  "     */",
  "    class DecodeError : public std::runtime_error",
  "    \x7b",
  "    public:",
  "        using std::runtime_error::runtime_error;",
  "    \x7d;",
  "",
  "    /**",
  "     * @brief Base class for generated commands.",
  "     *",
  "     * Encoding writes \"command_name\" plus every field and omits empty",
  "     * optionals. Decoding matches keys case-insensitively (an exactly",
  "     * lowercase key wins), ignores unknown keys and treats null as absent.",
  "     */",
  "    class Command",
  "    \x7b",
  "    public:",
  "        static constexpr const char *kCommandNameKey = \"command_name\";",
  "",
  "        explicit Command(std::string command_name) : command_name_(std::move(command_name)) \x7b\x7d",
  "        virtual ~Command() = default;",
  "",
  "        const std::string &command_name() const \x7b return command_name_; \x7d",
  "",
  "        virtual nlohmann::json to_json() const",
  "        \x7b",
  "            nlohmann::json json = nlohmann::json::object();",
  "            json[kCommandNameKey] = command_name_;",
  "            return json;",
  "        \x7d",
  "",
  "        std::string to_json_string(int indent = -1) const \x7b return to_json().dump(indent); \x7d",
  "",
  "    protected:",
  "        static nlohmann::json parse_object(const std::string &text)",
  "        \x7b",
  "            nlohmann::json source;",
  "            try",
  "            \x7b",
  "                source = nlohmann::json::parse(text);",
  "            \x7d",
  "            catch (const nlohmann::json::parse_error &e)",
  "            \x7b",
  "                throw DecodeError(std::string(\"malformed JSON: \") + e.what());",
  "            \x7d",
  "",
  "            if (!source.is_object())",
  "            \x7b",
  "                throw DecodeError(std::string(\"expected a JSON object, found \") + source.type_name());",
  "            \x7d",
  "",
  "            nlohmann::json folded = nlohmann::json::object();",
  "            for (const auto &item : source.items())",
  "            \x7b",
  "                const std::string &key = item.key();",
  "                std::string lower = to_lower(key);",
  "                if (lower == kCommandNameKey || item.value().is_null())",
  "                \x7b",
  "                    continue;",
  "                \x7d",
  "                if (lower == key || !folded.contains(lower))",
  "                \x7b",
  "                    folded[lower] = item.value();",
  "                \x7d",
  "            \x7d",
  "            return folded;",
  "        \x7d",
  "",
  "        template <typename T>",
  "        static void write_field(nlohmann::json &json, const char *name, const T &value)",
  "        \x7b",
  "            json[name] = value;",
  "        \x7d",
  "",
  "        template <typename T>",
  "        static void write_field(nlohmann::json &json, const char *name, const std::optional<T> &value)",
  "        \x7b",
  "            if (value.has_value())",
  "            \x7b",
  "                json[name] = *value;",
  "            \x7d",
  "        \x7d",
  "",
  "        template <typename T>",
  "        static void read_field(const nlohmann::json &json, const char *name, T &out)",
  "        \x7b",
  "            auto it = json.find(name);",
  "            if (it == json.end())",
  "            \x7b",
  "                return;",
  "            \x7d",
  "            out = checked<T>(*it, name);",
  "        \x7d",
  "",
  "        template <typename T>",
  "        static void read_field(const nlohmann::json &json, const char *name, std::optional<T> &out)",
  "        \x7b",
  "            auto it = json.find(name);",
  "            if (it == json.end())",
  "            \x7b",
  "                out.reset();",
  "                return;",
  "            \x7d",
  "            out = checked<T>(*it, name);",
  "        \x7d",
  "",
  "    private:",
  "        std::string command_name_;",
  "",
  "        static std::string to_lower(const std::string &text)",
  "        \x7b",
  "            std::string lower = text;",
  "            for (char &c : lower)",
  "            \x7b",
  "                if (c >= 'A' && c <= 'Z')",
  "                \x7b",
  "                    c = static_cast<char>(c - 'A' + 'a');",
  "                \x7d",
  "            \x7d",
  "            return lower;",
  "        \x7d",
  "",
  "        template <typename T>",
  "        static T checked(const nlohmann::json &value, const char *name)",
  "        \x7b",
  "            bool matches = false;",
  "            if constexpr (std::is_same_v<T, std::string>)",
  "            \x7b",
  "                matches = value.is_string();",
  "            \x7d",
  "            else if constexpr (std::is_same_v<T, bool>)",
  "            \x7b",
  "                matches = value.is_boolean();",
  "            \x7d",
  "            else",
  "            \x7b",
  "                matches = value.is_number_integer();",
  "            \x7d",
  "",
  "            if (!matches)",
  "            \x7b",
  "                throw DecodeError(std::string(\"field '\") + name + \"' has unexpected type \" + value.type_name());",
  "            \x7d",
  "            return value.get<T>();",
  "        \x7d",
  "    \x7d;",
  "\x7d"]

end CommandForge.Support
